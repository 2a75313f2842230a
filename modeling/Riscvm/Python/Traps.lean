import Riscvm.Python.Emulator

/-!
# The traps an instruction raises

An instruction raises an architectural trap when its mnemonic is not listed, when it is a
breakpoint, or when the address of its memory operand is not aligned. `trapOf` says which, by
the word and the registers alone, and the actors raise no other.
-/

namespace Riscvm.Python

open Exec

/-- A memory operand with the cause of its misalignment. -/
structure Access where
  address : Int
  size : Int
  cause : Nat

/-- The trap of an operand that is not aligned. -/
def Access.trap (access : Access) : Option ArchitecturalTrap :=
  if Int.land access.address (access.size - 1) ≠ 0 then
    some ⟨access.cause, access.address, false⟩
  else none

namespace Rv64i

/-- The actor has a branch for the mnemonic. -/
def Mnemonic.listed : Mnemonic → Bool
  | .UNDEFINED | .LR_W | .SC_W | .AMOADD_W | .AMOXOR_W | .AMOAND_W | .AMOOR_W | .AMOMIN_W
  | .AMOMAX_W | .AMOMINU_W | .AMOMAXU_W | .LR_D | .SC_D | .AMOSWAP_D | .AMOADD_D | .AMOXOR_D
  | .AMOAND_D | .AMOOR_D | .AMOMIN_D | .AMOMAX_D | .AMOMINU_D | .AMOMAXU_D => false
  | _ => true

/-- The memory operand; `AMOSWAP_W` reads before it writes. -/
def access (x : Nat) (cpu : Cpu) : Mnemonic → Option Access
  | .LB | .LBU => some ⟨cpu.reg (rs1 x) + immI x, 1, 4⟩
  | .LH | .LHU => some ⟨cpu.reg (rs1 x) + immI x, 2, 4⟩
  | .LW | .LWU => some ⟨cpu.reg (rs1 x) + immI x, 4, 4⟩
  | .LD => some ⟨cpu.reg (rs1 x) + immI x, 8, 4⟩
  | .SB => some ⟨cpu.reg (rs1 x) + immS x, 1, 6⟩
  | .SH => some ⟨cpu.reg (rs1 x) + immS x, 2, 6⟩
  | .SW => some ⟨cpu.reg (rs1 x) + immS x, 4, 6⟩
  | .SD => some ⟨cpu.reg (rs1 x) + immS x, 8, 6⟩
  | .AMOSWAP_W => some ⟨cpu.reg (rs1 x), 4, 4⟩
  | _ => none

def trapOf (x : Nat) (cpu : Cpu) (mnemonic : Mnemonic) : Option ArchitecturalTrap :=
  if !mnemonic.listed then some ⟨2, x, true⟩
  else if mnemonic = .EBREAK then some ⟨3, cpu.pc.toNat, false⟩
  else (access x cpu mnemonic).bind (·.trap)

end Rv64i

namespace Rv64c

def access (x : Nat) (cpu : Cpu) : Mnemonic → Option Access
  | .SDSP => some ⟨cpu.reg 2 + offset83Sdsp x, 8, 6⟩
  | .LDSP => some ⟨cpu.reg 2 + offset83Ldsp x, 8, 4⟩
  | .SD => some ⟨cpu.reg (rs1Prime x) + offset73 x, 8, 6⟩
  | .LD => some ⟨cpu.reg (rs1Prime x) + offset73 x, 8, 4⟩
  | .SW => some ⟨cpu.reg (rs1Prime x) + offset62 x, 4, 6⟩
  | .LW => some ⟨cpu.reg (rs1Prime x) + offset62 x, 4, 4⟩
  | _ => none

def trapOf (x : Nat) (cpu : Cpu) (mnemonic : Mnemonic) : Option ArchitecturalTrap :=
  (access x cpu mnemonic).bind (·.trap)

/-- The register that the instruction assigns. -/
def dest (x : Nat) : Mnemonic → Option Nat
  | .LDSP | .ADDI | .LUI | .LI | .ADDIW | .SLLI | .ADD | .MV => some (rd x)
  | .LD | .LW | .ADDI4SPN => some (rs2Prime x)
  | .ADDI16SP => some 2
  | .ANDI | .SRAI | .SRLI | .SUB | .XOR | .AND | .OR | .SUBW | .ADDW => some (rs1Prime x)
  | .JALR => some 1
  | _ => none

end Rv64c

namespace Instruction

/-- The trap that the instruction raises, if any. -/
def trapOf (instruction : Instruction) (cpu : Cpu) : Option ArchitecturalTrap :=
  if instruction.value % 4 = 3 then
    (Rv64i.mnemonicOf instruction.value).bind (Rv64i.trapOf instruction.value cpu)
  else (Rv64c.mnemonicOf instruction.value).bind (Rv64c.trapOf instruction.value cpu)

end Instruction

section Raises

variable {σ : Type}

/-- An exception that is the trap `expected`, or no trap. -/
def Due (expected : Option ArchitecturalTrap) (e : Exception) : Prop :=
  ∀ t, e = .trap t → expected = some t

variable {expected : Option ArchitecturalTrap}

theorem due_error {α : Type} (e : InternalException) :
    Raises (Due expected) (error e : Call (Hart σ) α) :=
  .throw fun _ h => nomatch h

theorem due_assert (p : Prop) [Decidable p] :
    Raises (Due expected) (assert p : Call (Hart σ) Unit) :=
  .ite (.pure _) (.throw fun _ h => nomatch h)

theorem due_getCpu : Raises (Due expected) (getCpu : Call (Hart σ) Cpu) := by
  rintro s e t ⟨⟩

theorem due_modifyCpu (f : Cpu → Cpu) :
    Raises (Due expected) (modifyCpu f : Call (Hart σ) Unit) := by
  rintro s e t ⟨⟩

theorem due_rd (value : Int) : Raises (Due expected) (rd value : Call (Hart σ) Unit) := by
  refine .bind due_getCpu fun cpu => ?_
  cases cpu.instruction with
  | none => exact .throw fun _ h => nomatch h
  | some instruction => exact .bind (due_modifyCpu _) fun _ => due_modifyCpu _

theorem due_deliver (cause : Nat) (isInterrupt : Bool) (tval : Int) :
    Raises (Due expected) (deliver cause isInterrupt tval : Call (Hart σ) Int) :=
  .bind due_getCpu fun _ => .bind (due_modifyCpu _) fun _ => .pure _

theorem due_onBoard {α : Type} {x : Call σ α} (h : ∀ s t s', x s ≠ .error (.trap t) s') :
    Raises (Due expected) (onBoard x : Call (Hart σ) α) := by
  refine Raises.zoom ?_
  rintro s e s' hx t rfl
  exact absurd hx (h s t s')

theorem due_checkAlignment {address size : Int} {cause : Nat} (hsize : size ≠ 0)
    (h : Access.trap ⟨address, size, cause⟩ = expected) :
    Raises (Due expected) (checkAlignment address size cause : Call (Hart σ) Unit) := by
  unfold checkAlignment
  by_cases hmis : Int.land address (size - 1) ≠ 0
  · rw [if_pos ⟨hsize, hmis⟩]
    refine .throw ?_
    rintro t ⟨⟩
    rw [← h, Access.trap, if_pos hmis]
  · rw [if_neg fun hboth => hmis hboth.2]
    exact .pure _

variable [Board σ]

theorem due_walk (va a : Int) (levels : Nat) (s : σ) (t : ArchitecturalTrap) (s' : σ) :
    walk va a levels s ≠ .error (.trap t) s' := by
  suffices h : Raises (Due none) (walk va a levels) from
    fun hx => nomatch h s _ s' hx t rfl
  induction levels generalizing a with
  | zero => exact .throw fun _ h => nomatch h
  | succ level ih =>
      refine .bind ?_ fun pte => ?_
      · rintro s e s' hx t rfl
        exact absurd hx (Board.read_no_trap _ _ _ _ _)
      · refine .ite (.throw fun _ h => nomatch h) (.ite (.pure _) (.ite ?_ (ih _)))
        exact .throw fun _ h => nomatch h

theorem due_translate (va : Int) (access : String) :
    Raises (Due expected) (translate va access : Call (Hart σ) Int) := by
  refine .bind due_getCpu fun cpu => .ite (.pure _) (.ite (due_error _) ?_)
  refine .bind (due_onBoard (due_walk _ _ _)) fun leaf => .ite (due_error _) ?_
  exact .ite (due_error _) (.pure _)

theorem read_misaligned {address size : Int} {hart : Hart σ} (hsize : size ≠ 0)
    (h : Int.land address (size - 1) ≠ 0) :
    read address size hart = .error (.trap ⟨4, address, false⟩) hart := by
  rw [read, checkAlignment, if_pos ⟨hsize, h⟩]
  rfl

theorem write_misaligned {address size : Int} {hart : Hart σ} (hsize : size ≠ 0)
    (h : Int.land address (size - 1) ≠ 0) (value : Int) :
    write address size value hart = .error (.trap ⟨6, address, false⟩) hart := by
  rw [write, checkAlignment, if_pos ⟨hsize, h⟩]
  rfl

theorem due_read {address size : Int} (hsize : size ≠ 0)
    (h : Access.trap ⟨address, size, 4⟩ = expected) :
    Raises (Due expected) (read address size : Call (Hart σ) Int) :=
  .bind (due_checkAlignment hsize h) fun _ => .bind (due_translate _ _) fun _ =>
    due_onBoard (Board.read_no_trap _ _)

theorem due_write {address size : Int} (hsize : size ≠ 0) (value : Int)
    (h : Access.trap ⟨address, size, 6⟩ = expected) :
    Raises (Due expected) (write address size value : Call (Hart σ) Unit) :=
  .bind (due_checkAlignment hsize h) fun _ => .bind (due_translate _ _) fun _ =>
    due_onBoard (Board.write_no_trap _ _ _)

omit [Board σ] in
/-- The trap may depend on the hart as it was when the call began. -/
theorem trap_getCpu_bind {α : Type} {f : Cpu → Call (Hart σ) α}
    {T : Cpu → Option ArchitecturalTrap} (h : ∀ cpu, Raises (Due (T cpu)) (f cpu))
    {hart hart' : Hart σ} {t : ArchitecturalTrap}
    (run : (getCpu >>= f) hart = .error (.trap t) hart') : T hart.cpu = some t :=
  h hart.cpu hart _ hart' run t rfl

omit [Board σ] in
theorem due_result (value next : Int) :
    Raises (Due expected) (do rd value; return next : Call (Hart σ) Int) :=
  .bind (due_rd _) fun _ => .pure _

/-- What follows a misaligned read does not run. -/
theorem due_read_bind {α : Type} {address size : Int} (hsize : size ≠ 0)
    (h : Int.land address (size - 1) ≠ 0) (due : expected = some ⟨4, address, false⟩)
    (f : Int → Call (Hart σ) α) : Raises (Due expected) (read address size >>= f) := by
  rintro hart e hart' run t rfl
  rw [bind_error (read_misaligned hsize h)] at run
  cases run
  exact due

omit [Board σ] in
theorem due_update (k : Nat) (value next : Int) :
    Raises (Due expected) (do assign k value; return next : Call (Hart σ) Int) :=
  .bind (due_modifyCpu _) fun _ => .pure _

theorem due_store {address size : Int} (hsize : size ≠ 0) (value next : Int)
    (h : Access.trap ⟨address, size, 6⟩ = expected) :
    Raises (Due expected) (do write address size value; return next : Call (Hart σ) Int) :=
  .bind (due_write hsize _ h) fun _ => .pure _

omit [Board σ] in
theorem due_nonzero (value : Int) :
    Raises (Due expected) (Rv64c.nonzero value : Call (Hart σ) Int) :=
  .ite (.pure _) (due_error _)

theorem Rv64i.trap_perform {x : Nat} {mnemonic : Mnemonic} {hart hart' : Hart σ}
    {t : ArchitecturalTrap} (run : perform x mnemonic hart = .error (.trap t) hart') :
    trapOf x hart.cpu mnemonic = some t := by
  refine trap_getCpu_bind (T := fun cpu => trapOf x cpu mnemonic) (fun cpu => ?_) run
  have hload (size : Int) (hsize : size ≠ 0) (convert : Int → Int)
      (h : Access.trap ⟨cpu.reg (rs1 x) + immI x, size, 4⟩ = trapOf x cpu mnemonic) :
      Raises (Due (trapOf x cpu mnemonic)) (do
        Python.rd (convert (← read (cpu.reg (rs1 x) + immI x) size))
        return (cpu.pc.toNat : Int) + 4 : Call (Hart σ) Int) :=
    .bind (due_read hsize h) fun _ => due_result _ _
  cases mnemonic with
  | LB => exact hload 1 (by decide) _ rfl
  | LBU => exact hload 1 (by decide) _ rfl
  | LH => exact hload 2 (by decide) _ rfl
  | LHU => exact hload 2 (by decide) _ rfl
  | LW => exact hload 4 (by decide) _ rfl
  | LWU => exact hload 4 (by decide) _ rfl
  | LD => exact hload 8 (by decide) _ rfl
  | SB => exact due_store (by decide) _ _ rfl
  | SH => exact due_store (by decide) _ _ rfl
  | SW => exact due_store (by decide) _ _ rfl
  | SD => exact due_store (by decide) _ _ rfl
  | AMOSWAP_W =>
      -- the read raises for the write
      by_cases hmis : Int.land (cpu.reg (rs1 x)) 3 ≠ 0
      · exact due_read_bind (by decide) hmis (if_pos hmis) _
      · have hnone (cause : Nat) : Access.trap ⟨cpu.reg (rs1 x), 4, cause⟩ = none := if_neg hmis
        refine .bind (due_read (by decide) rfl) fun _ => ?_
        refine .bind (due_write (by decide) _ ((hnone 6).trans (hnone 4).symm)) fun _ => ?_
        exact due_result _ _
  | MRET => exact .bind (due_modifyCpu _) fun _ => .pure _
  | SRET => exact .bind (due_modifyCpu _) fun _ => .pure _
  | ECALL => exact due_deliver _ _ _
  | EBREAK => exact .throw fun _ h => congrArg some (Exception.trap.inj h)
  | CSRRS | CSRRW | CSRRC | CSRRWI | CSRRSI | CSRRCI =>
      exact .bind (due_rd _) fun _ => .bind (due_modifyCpu _) fun _ => .pure _
  | BGE | BLT | BEQ | BNE | BLTU | BGEU | WFI | FENCE | FENCE_I | SFENCE_VMA => exact .pure _
  | UNDEFINED | LR_W | SC_W | AMOADD_W | AMOXOR_W | AMOAND_W | AMOOR_W | AMOMIN_W | AMOMAX_W
  | AMOMINU_W | AMOMAXU_W | LR_D | SC_D | AMOSWAP_D | AMOADD_D | AMOXOR_D | AMOAND_D | AMOOR_D
  | AMOMIN_D | AMOMAX_D | AMOMINU_D | AMOMAXU_D =>
      exact .throw fun _ h => congrArg some (Exception.trap.inj h)
  | _ => exact due_result _ _

theorem Rv64c.trap_perform {x : Nat} {mnemonic : Mnemonic} {hart hart' : Hart σ}
    {t : ArchitecturalTrap} (run : perform x mnemonic hart = .error (.trap t) hart') :
    trapOf x hart.cpu mnemonic = some t := by
  refine trap_getCpu_bind (T := fun cpu => trapOf x cpu mnemonic) (fun cpu => ?_) run
  cases mnemonic with
  | SDSP => exact due_store (by decide) _ _ rfl
  | SD => exact due_store (by decide) _ _ rfl
  | SW => exact due_store (by decide) _ _ rfl
  | LDSP =>
      exact .bind (due_assert _) fun _ => .bind (due_read (by decide) rfl) fun _ => due_update _ _ _
  | LD => exact .bind (due_read (by decide) rfl) fun _ => due_update _ _ _
  | LW => exact .bind (due_read (by decide) rfl) fun _ => due_update _ _ _
  | BEQZ | BNEZ | J => exact .pure _
  | ADDI4SPN => exact .bind (due_nonzero _) fun _ => due_update _ _ _
  | ADDI => exact .bind (due_nonzero _) fun _ => due_update _ _ _
  | LUI => exact .bind (due_assert _) fun _ => .bind (due_nonzero _) fun _ => due_update _ _ _
  | ADDI16SP => exact .bind (due_assert _) fun _ => .bind (due_nonzero _) fun _ => due_update _ _ _
  | LI | ADDIW => exact .bind (due_assert _) fun _ => due_update _ _ _
  | ANDI | SUB | XOR | AND | OR | SUBW | ADDW => exact due_update _ _ _
  | SRAI | SRLI | SLLI => exact .bind (due_nonzero _) fun _ => due_update _ _ _
  | ADD | JALR | MV =>
      exact .bind (due_assert _) fun _ => .bind (due_assert _) fun _ => due_update _ _ _
  | JR => exact .bind (due_assert _) fun _ => .bind (due_assert _) fun _ => .pure _
  | UNDEFINED => exact due_error _

omit [Board σ] in
theorem getattr_eq_ok {μ : Type} {member : Option μ} {m : μ} {s t : σ}
    (h : (getattr member : Call σ μ) s = .ok m t) : member = some m ∧ t = s := by
  unfold getattr at h
  cases member with
  | none => cases h
  | some m' =>
      cases h
      exact ⟨rfl, rfl⟩

omit [Board σ] in
theorem Rv64i.getMnemonic_eq_ok {x : Nat} {m : Mnemonic} {s t : σ}
    (h : (getMnemonic x : Call σ Mnemonic) s = .ok m t) : mnemonicOf x = some m ∧ t = s := by
  unfold getMnemonic at h
  obtain ⟨_, s', hassert, hrest⟩ := bind_eq_ok.mp h
  obtain ⟨-, rfl⟩ := assert_eq_ok.mp hassert
  exact getattr_eq_ok hrest

omit [Board σ] in
/-- A trap leaves an actor from one of its branches. -/
theorem trap_bind {μ : Type} {lookup : Call (Hart σ) μ} {f : μ → Call (Hart σ) Int}
    (hlookup : Raises (Due none) lookup) {hart hart' : Hart σ} {t : ArchitecturalTrap}
    (run : (do setPc (← f (← lookup)) : Call (Hart σ) Unit) hart = .error (.trap t) hart') :
    ∃ m hart₁, lookup hart = .ok m hart₁ ∧ f m hart₁ = .error (.trap t) hart' := by
  obtain h | ⟨m, hart₁, hm, h⟩ := bind_eq_error.mp run
  · exact nomatch hlookup _ _ _ h t rfl
  · obtain h | ⟨pc, hart₂, -, h⟩ := bind_eq_error.mp h
    · exact ⟨m, hart₁, hm, h⟩
    · cases h

omit [Board σ] in
theorem due_getattr {μ : Type} (member : Option μ) :
    Raises (Due expected) (getattr member : Call (Hart σ) μ) := by
  unfold getattr
  cases member with
  | none => exact .throw fun _ h => nomatch h
  | some m => exact .pure m

/-- An instruction raises no trap but the one that its word and the registers ask for. -/
theorem trap_act {instruction : Instruction} {hart hart' : Hart σ} {t : ArchitecturalTrap}
    (run : act instruction hart = .error (.trap t) hart') :
    instruction.trapOf hart.cpu = some t := by
  unfold act at run
  unfold Instruction.trapOf
  by_cases hi : instruction.value % 4 = 3
  · rw [if_pos hi] at run ⊢
    obtain ⟨m, hart₁, hm, h⟩ := trap_bind (.bind (due_assert _) fun _ => due_getattr _) run
    obtain ⟨hmnemonic, rfl⟩ := Rv64i.getMnemonic_eq_ok hm
    rw [hmnemonic]
    exact Rv64i.trap_perform h
  · rw [if_neg hi] at run ⊢
    obtain ⟨m, hart₁, hm, h⟩ := trap_bind (due_getattr _) run
    obtain ⟨hmnemonic, rfl⟩ := getattr_eq_ok hm
    rw [hmnemonic]
    exact Rv64c.trap_perform h

end Raises

end Riscvm.Python
